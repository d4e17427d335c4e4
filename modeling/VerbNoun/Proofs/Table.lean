import VerbNoun.Table
set_option autoImplicit false

/-!
# Table: looking up (SPEC §12)

What a look-up finds after an entry is put in: the entry under its own key, and under any other
key what was there before.  A look-up finds exactly the entries, so a table is known by its
look-ups.
-/

namespace VerbNoun

universe u

namespace Table

variable {α : Type u}

theorem lookup_place_self (key : String) (a : α) (entries : List (String × α)) :
    (place key a entries).lookup key = some a := by
  induction entries with
  | nil => simp [place]
  | cons entry rest ih =>
      obtain ⟨k, b⟩ := entry
      unfold place
      split
      · simp
      · split
        · simp
        · rename_i hne
          rw [List.lookup_cons, beq_false_of_ne hne]
          exact ih

theorem lookup_place_of_ne {key other : String} (hne : other ≠ key) (a : α)
    (entries : List (String × α)) :
    (place key a entries).lookup other = entries.lookup other := by
  induction entries with
  | nil => simp [place, List.lookup_cons, beq_false_of_ne hne]
  | cons entry rest ih =>
      obtain ⟨k, b⟩ := entry
      unfold place
      split
      · rw [List.lookup_cons, beq_false_of_ne hne]
      · split
        · rename_i hkey
          rw [List.lookup_cons, List.lookup_cons, ← hkey, beq_false_of_ne hne]
        · rw [List.lookup_cons, List.lookup_cons, ih]

/-- Putting an entry in changes what is found under its key, and nothing else. -/
theorem find?_insert (t : Table α) (key other : String) (a : α) :
    (t.insert key a).find? other = if other = key then some a else t.find? other := by
  unfold find? insert
  split
  · rename_i hkey
    rw [hkey, lookup_place_self]
  · rename_i hne
    exact lookup_place_of_ne hne a t.entries

theorem find?_eq_some_iff {t : Table α} {key : String} {a : α} :
    t.find? key = some a ↔ (key, a) ∈ t.entries := by
  unfold find?
  rw [List.lookup_eq_some_iff]
  constructor
  · rintro ⟨before, after, heq, -⟩
    rw [heq]
    exact List.mem_append_right _ List.mem_cons_self
  · intro hmem
    obtain ⟨before, after, heq⟩ := List.append_of_mem hmem
    refine ⟨before, after, heq, fun entry hentry => ?_⟩
    have hascending := t.ascending
    rw [heq] at hascending
    have hlt := (List.pairwise_append.1 hascending).2.2 entry hentry _ List.mem_cons_self
    have hne : key ≠ entry.1 := fun hkey => String.lt_irrefl _ (hkey ▸ hlt)
    simpa using hne

theorem contains_eq_false_iff {t : Table α} {key : String} :
    t.contains key = false ↔ t.find? key = none := by
  unfold contains
  rw [Option.isSome_eq_false_iff, Option.isNone_iff_eq_none]

/-- Tables with the same look-ups are the same. -/
theorem ext_find? {t u : Table α} (h : ∀ key, t.find? key = u.find? key) : t = u := by
  have hnodup : ∀ v : Table α, v.entries.Nodup := by
    intro v
    refine v.ascending.imp fun {a b} hlt heq => ?_
    rw [heq] at hlt
    exact String.lt_irrefl _ hlt
  have hperm : t.entries.Perm u.entries := by
    refine (List.perm_ext_iff_of_nodup (hnodup t) (hnodup u)).2 fun entry => ?_
    rw [← Prod.eta entry, ← find?_eq_some_iff, ← find?_eq_some_iff, h]
  have hentries : t.entries = u.entries := by
    refine hperm.eq_of_pairwise (fun a b _ _ hab hba => ?_) t.ascending u.ascending
    exact absurd hba (String.lt_asymm hab)
  cases t
  cases u
  cases hentries
  rfl

theorem insert_comm {key key' : String} (hne : key ≠ key') (t : Table α) (a b : α) :
    (t.insert key a).insert key' b = (t.insert key' b).insert key a := by
  refine ext_find? fun other => ?_
  simp only [find?_insert]
  by_cases hkey : other = key
  · rw [if_neg (fun h => hne (hkey.symm.trans h)), if_pos hkey, if_pos hkey]
  · rw [if_neg hkey, if_neg hkey]

theorem place_perm {key : String} (a : α) {entries : List (String × α)}
    (h : entries.lookup key = none) : (place key a entries).Perm ((key, a) :: entries) := by
  induction entries with
  | nil => exact List.Perm.refl _
  | cons entry rest ih =>
      obtain ⟨k, b⟩ := entry
      have hall := List.lookup_eq_none_iff.1 h
      have hne : key ≠ k := by simpa using hall (k, b) List.mem_cons_self
      have hrest : rest.lookup key = none :=
        List.lookup_eq_none_iff.2 fun e he => hall e (List.mem_cons_of_mem _ he)
      simp only [place, if_neg hne]
      split
      · exact List.Perm.refl _
      · exact ((ih hrest).cons _).trans (List.Perm.swap _ _ _)

theorem values_insert_perm {t : Table α} {key : String} (h : t.contains key = false) (a : α) :
    (t.insert key a).values.Perm (a :: t.values) :=
  (place_perm a (contains_eq_false_iff.1 h)).map _

end Table

end VerbNoun
